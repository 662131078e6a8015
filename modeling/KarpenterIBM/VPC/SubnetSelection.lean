import KarpenterIBM.Errors
import KarpenterIBM.Lib.EffectProgram
import KarpenterIBM.Lib.FirstPerKey
import KarpenterIBM.Lib.SortSlice
import KarpenterIBM.Objects
import Mathlib.Algebra.Order.Field.Rat

/-!
# Selecting subnets by a placement strategy

`SelectSubnets` of `pkg/providers/vpc/subnet`.
-/

namespace KarpenterIBM.SubnetSelection

open EffectProgram Errors FirstPerKey List Objects SortSlice Text

/-- `SubnetInfo` of the subnet provider with all its fields. -/
structure SubnetRecord extends SubnetInfo where
  cidr : String
  tags : StringMap
  totalIPCount : Int
  usedIPCount : Int
  reservedIPCount : Int
deriving DecidableEq

/-- How many nodes of the cluster a subnet holds. -/
abbrev ClusterSubnets : Type := Finmap fun _ : String => Nat

/-! ## Scores -/

def calculateSubnetScore (subnet : SubnetRecord) : ℚ :=
  if subnet.totalIPCount = 0 then 0
  else
    subnet.availableIPs / subnet.totalIPCount * 100 -
      ((subnet.usedIPCount + subnet.reservedIPCount).bmod 4294967296 : ℤ) /
        subnet.totalIPCount * 50

def applyClusterAwareness (subnet : SubnetRecord) (baseScore : ℚ)
    (clusterSubnets : ClusterSubnets) : ℚ :=
  match clusterSubnets.lookup subnet.id with
  | some nodeCount => baseScore + (50 + nodeCount * 10)
  | none => if clusterSubnets ≠ ∅ then baseScore - 5 else baseScore

def scoreOf (clusterSubnets : ClusterSubnets) (subnet : SubnetRecord) : ℚ :=
  applyClusterAwareness subnet (calculateSubnetScore subnet) clusterSubnets

structure SubnetScore where
  subnet : SubnetRecord
  score : ℚ

def higherScore (first second : SubnetScore) : Bool := decide (second.score < first.score)

/-! ## Selection -/

def hasAllTags (requiredTags tags : StringMap) : Bool :=
  decide (∀ key ∈ requiredTags.keys, tags.read key = requiredTags.read key)

/-- The checks of the loop over all subnets. -/
def eligible (strategy : PlacementStrategy) (subnet : SubnetRecord) : Bool :=
  if subnet.state ≠ "available" then false
  else
    match strategy.subnetSelection with
    | none => true
    | some criteria =>
      if 0 < criteria.minimumAvailableIPs ∧
          subnet.availableIPs < criteria.minimumAvailableIPs then false
      else hasAllTags criteria.requiredTags subnet.tags

def upToZones : Nat → List String → List SubnetScore → List SubnetRecord
  | _, _, [] => []
  | 0, _, _ => []
  | zones + 1, seenZones, score :: rest =>
    if score.subnet.zone ∈ seenZones then upToZones (zones + 1) seenZones rest
    else score.subnet :: upToZones zones (score.subnet.zone :: seenZones) rest

def onePerZone : List String → List SubnetScore → List SubnetRecord
  | _, [] => []
  | seenZones, score :: rest =>
    if score.subnet.zone ∈ seenZones then onePerZone seenZones rest
    else score.subnet :: onePerZone (score.subnet.zone :: seenZones) rest

def targetZones : Nat := 2

def distribute (zoneBalance : String) (scores : List SubnetScore) : List SubnetRecord :=
  if zoneBalance = "Balanced" then onePerZone [] scores
  else if zoneBalance = "AvailabilityFirst" then scores.map SubnetScore.subnet
  else if zoneBalance = "CostOptimized" then upToZones targetZones [] scores
  else []

def ranked (sorter : Sorter higherScore) (clusterSubnets : ClusterSubnets)
    (subnets : List SubnetRecord) : List SubnetScore :=
  sorter.slice (subnets.map fun subnet => ⟨subnet, scoreOf clusterSubnets subnet⟩)

/-- `SelectSubnets` on the subnets of the VPC and the subnets of the cluster's nodes. -/
def selectAmong (sorter : Sorter higherScore) (vpcID : String) (strategy : PlacementStrategy)
    (allSubnets : List SubnetRecord) (clusterSubnets : ClusterSubnets) :
    Except GoError (List SubnetRecord) :=
  if allSubnets.filter (eligible strategy) = [] then
    .error (.plain ("no eligible subnets found in VPC " ++ vpcID))
  else
    let selected := distribute strategy.zoneBalance
      (ranked sorter clusterSubnets (allSubnets.filter (eligible strategy)))
    if selected = [] then
      .error (.plain "no subnets selected after applying placement strategy")
    else .ok selected

/-! ## The whole call -/

/-- The calls of `SelectSubnets`.  Nodes are named by their provider IDs. -/
inductive SelectionCall where
  | listSubnets (vpcID : String)
  | listNodes
  | getInstance (instanceID : String)

/-- An instance that cannot be read or has no subnet is answered with nothing, another one
with the ID of its subnet, which may be missing. -/
def SelectionCall.Answer : SelectionCall → Type
  | .listSubnets _ => Except GoError (List SubnetRecord)
  | .listNodes => Except GoError (List String)
  | .getInstance _ => Option (Option String)

abbrev selecting : Signature := ⟨SelectionCall, SelectionCall.Answer⟩

abbrev Selection (α : Type) : Type := Prog selecting Failure α

def getSubnetForInstance (instanceID : String) : Selection String :=
  .call (.getInstance instanceID) fun answer =>
    match answer with
    | none => pure ""
    | some none => .fail .panic
    | some (some subnetID) => pure subnetID

/-- The instance that a provider ID of this cloud ends with. -/
def instanceOf (providerID : String) : Option String :=
  let parts := splitText providerID '/'
  if 4 ≤ parts.length ∧ parts.head? = some "ibm:" then some (parts.getLastD "") else none

def parseSubnetFromProviderID (providerID : String) : Selection String :=
  match instanceOf providerID with
  | none => pure ""
  | some instanceID => getSubnetForInstance instanceID

/-- The lookup by address, which comes next, never finds a subnet. -/
def extractSubnetFromNode (providerID : String) : Selection String :=
  if providerID = "" then pure "" else parseSubnetFromProviderID providerID

def countSubnets : List String → ClusterSubnets → Selection ClusterSubnets
  | [], counted => pure counted
  | providerID :: rest, counted => do
    let subnetID ← extractSubnetFromNode providerID
    if subnetID = "" then countSubnets rest counted
    else
      countSubnets rest (counted.insert subnetID ((counted.lookup subnetID).getD 0 + 1))

def getExistingClusterSubnets (hasKubeClient : Bool) : Selection ClusterSubnets :=
  if hasKubeClient = false then pure ∅
  else do
    let nodes ← (.call .listNodes .pure : Selection (Except GoError (List String)))
    match nodes with
    | .error _ => pure ∅
    | .ok providerIDs => countSubnets providerIDs ∅

def selectSubnets (sorter : Sorter higherScore) (hasKubeClient : Bool) (vpcID : String)
    (strategy : PlacementStrategy) : Selection (List SubnetRecord) := do
  let listed ← (.call (.listSubnets vpcID) .pure : Selection (Except GoError (List SubnetRecord)))
  match listed with
  | .error error => .fail (.error (.wrap "failed to list subnets: " error ""))
  | .ok allSubnets => do
    let clusterSubnets ← getExistingClusterSubnets hasKubeClient
    ofExcept ((selectAmong sorter vpcID strategy allSubnets clusterSubnets).mapError .error)

/-! ## The loops -/

theorem onePerZone_eq (seenZones : List String) (scores : List SubnetScore) :
    onePerZone seenZones scores =
      (firstPerKey (fun score => score.subnet.zone) seenZones scores).map SubnetScore.subnet := by
  induction scores generalizing seenZones with
  | nil => rfl
  | cons score rest ih =>
    rw [onePerZone, firstPerKey]
    by_cases seen : score.subnet.zone ∈ seenZones
    · rw [if_pos seen, if_pos seen, ih]
    · rw [if_neg seen, if_neg seen, ih, map_cons]

theorem upToZones_eq (zones : Nat) (seenZones : List String) (scores : List SubnetScore) :
    upToZones zones seenZones scores = (onePerZone seenZones scores).take zones := by
  induction scores generalizing zones seenZones with
  | nil => simp [upToZones, onePerZone]
  | cons score rest ih =>
    cases zones with
    | zero => simp [upToZones]
    | succ zones =>
      rw [upToZones, onePerZone]
      by_cases seen : score.subnet.zone ∈ seenZones
      · rw [if_pos seen, if_pos seen, ih]
      · rw [if_neg seen, if_neg seen, ih, take_succ_cons]

/-! ## What the ranking promises -/

section
variable (sorter : Sorter higherScore) (clusterSubnets : ClusterSubnets)
  (subnets : List SubnetRecord)

variable {sorter clusterSubnets subnets} in
theorem mem_ranked_iff {score : SubnetScore} : score ∈ ranked sorter clusterSubnets subnets ↔
      score.subnet ∈ subnets ∧ score.score = scoreOf clusterSubnets score.subnet := by
  rw [ranked, (sorter.perm _).mem_iff, mem_map]
  constructor
  · rintro ⟨subnet, mem, rfl⟩
    exact ⟨mem, rfl⟩
  rintro ⟨mem, scored⟩
  refine ⟨score.subnet, mem, ?_⟩
  rw [← scored]

theorem pairwise_ranked : (ranked sorter clusterSubnets subnets).Pairwise fun earlier later =>
      later.score ≤ earlier.score := by
  have strict : StrictWeak higherScore
      (subnets.map fun subnet => (⟨subnet, scoreOf clusterSubnets subnet⟩ : SubnetScore)) :=
    strictWeak_of_rank SubnetScore.score fun _ _ _ _ => by simp [higherScore]
  refine (sorter.ordered _ strict).imp ?_
  intro earlier later notHigher
  simpa [higherScore] using notHigher

theorem map_subnet_ranked_perm :
    ((ranked sorter clusterSubnets subnets).map SubnetScore.subnet).Perm subnets := by
  have perm := (sorter.perm
    (subnets.map fun subnet => ⟨subnet, scoreOf clusterSubnets subnet⟩)).map SubnetScore.subnet
  rwa [map_map, Function.comp_def, map_id''] at perm
  exact fun _ => rfl

/-! ## What a strategy asks for -/

structure BestPerZone (score : SubnetRecord → ℚ) (subnets chosen : List SubnetRecord) : Prop where
  members : ∀ subnet ∈ chosen, subnet ∈ subnets
  zones : (chosen.map fun subnet => subnet.zone).Nodup
  highest : ∀ subnet ∈ chosen, ∀ other ∈ subnets, other.zone = subnet.zone →
    score other ≤ score subnet

/-- One best subnet for every zone that has a subnet. -/
structure Balanced (score : SubnetRecord → ℚ) (subnets chosen : List SubnetRecord) : Prop where
  best : BestPerZone score subnets chosen
  covers : ∀ other ∈ subnets, ∃ subnet ∈ chosen, subnet.zone = other.zone

/-- Every subnet once, no score above the one before. -/
structure AvailabilityFirst (score : SubnetRecord → ℚ) (subnets chosen : List SubnetRecord) :
    Prop where
  all : chosen.Perm subnets
  ordered : chosen.Pairwise fun earlier later => score later ≤ score earlier

/-- One best subnet for each of two zones, or of the only one, such that no subnet of
another zone has a higher score. -/
structure CostOptimized (score : SubnetRecord → ℚ) (subnets chosen : List SubnetRecord) :
    Prop where
  best : BestPerZone score subnets chosen
  count : chosen.length = min 2 (subnets.map fun subnet => subnet.zone).dedup.length
  leftOut : ∀ other ∈ subnets, other.zone ∉ chosen.map (fun subnet => subnet.zone) →
    ∀ subnet ∈ chosen, score other ≤ score subnet

theorem bestPerZone_of_sublist {kept : List SubnetScore}
    (sublist : kept.Sublist (firstPerKey (fun score => score.subnet.zone) []
      (ranked sorter clusterSubnets subnets))) :
    BestPerZone (scoreOf clusterSubnets) subnets (kept.map SubnetScore.subnet) := by
  have inRanked : ∀ score ∈ kept, score ∈ ranked sorter clusterSubnets subnets :=
    fun score mem => (firstPerKey_sublist _ _).subset (sublist.subset mem)
  have distinct : (kept.map fun score => score.subnet.zone).Nodup :=
    (nodup_keys [] (ranked sorter clusterSubnets subnets)).sublist (sublist.map _)
  refine ⟨?_, ?_, ?_⟩
  · intro subnet mem
    obtain ⟨score, inKept, rfl⟩ := mem_map.mp mem
    exact (mem_ranked_iff.mp (inRanked score inKept)).1
  · rw [map_map]
    exact distinct
  intro subnet mem other inSubnets sameZone
  obtain ⟨score, inKept, rfl⟩ := mem_map.mp mem
  have otherRanked : (⟨other, scoreOf clusterSubnets other⟩ : SubnetScore) ∈
      ranked sorter clusterSubnets subnets := mem_ranked_iff.mpr ⟨inSubnets, rfl⟩
  obtain ⟨first, inFirst, ofZone, above⟩ := exists_kept
    (fun score : SubnetScore => score.subnet.zone)
    (fun earlier later => later.score ≤ earlier.score) (fun _ => le_rfl)
    (pairwise_ranked sorter clusterSubnets subnets) otherRanked not_mem_nil
  have same : first = score := by
    refine inj_on_of_nodup_map (nodup_keys [] (ranked sorter clusterSubnets subnets))
      inFirst (sublist.subset inKept) ?_
    exact ofZone.trans sameZone
  rw [← (mem_ranked_iff.mp (inRanked score inKept)).2, ← same]
  exact above

theorem balanced_onePerZone : Balanced (scoreOf clusterSubnets) subnets
      (onePerZone [] (ranked sorter clusterSubnets subnets)) := by
  rw [onePerZone_eq]
  refine ⟨bestPerZone_of_sublist sorter clusterSubnets subnets (List.Sublist.refl _), ?_⟩
  intro other inSubnets
  have otherRanked : (⟨other, scoreOf clusterSubnets other⟩ : SubnetScore) ∈
      ranked sorter clusterSubnets subnets := mem_ranked_iff.mpr ⟨inSubnets, rfl⟩
  obtain ⟨first, inFirst, ofZone, _⟩ := exists_kept (fun score : SubnetScore => score.subnet.zone)
    (fun earlier later => later.score ≤ earlier.score) (fun _ => le_rfl)
    (pairwise_ranked sorter clusterSubnets subnets) otherRanked not_mem_nil
  exact ⟨first.subnet, mem_map_of_mem inFirst, ofZone⟩

theorem availabilityFirst_all : AvailabilityFirst (scoreOf clusterSubnets) subnets
      ((ranked sorter clusterSubnets subnets).map SubnetScore.subnet) := by
  refine ⟨map_subnet_ranked_perm sorter clusterSubnets subnets, ?_⟩
  rw [pairwise_map]
  refine List.Pairwise.imp_of_mem ?_ (pairwise_ranked sorter clusterSubnets subnets)
  intro earlier later inEarlier inLater below
  rwa [← (mem_ranked_iff.mp inEarlier).2, ← (mem_ranked_iff.mp inLater).2]

theorem costOptimized_upToZones : CostOptimized (scoreOf clusterSubnets) subnets
      (upToZones targetZones [] (ranked sorter clusterSubnets subnets)) := by
  rw [upToZones_eq, onePerZone_eq, ← map_take]
  refine ⟨bestPerZone_of_sublist sorter clusterSubnets subnets (take_sublist _ _), ?_, ?_⟩
  · have zones : ((ranked sorter clusterSubnets subnets).map fun score =>
        score.subnet.zone).Perm (subnets.map fun subnet => subnet.zone) := by
      have perm := (map_subnet_ranked_perm sorter clusterSubnets subnets).map
        fun subnet => subnet.zone
      rwa [map_map] at perm
    rw [length_map, length_take, length_firstPerKey, zones.dedup.length_eq]
    rfl
  · intro other inSubnets out subnet mem
    obtain ⟨score, inTake, rfl⟩ := mem_map.mp mem
    rw [map_map] at out
    have otherRanked : (⟨other, scoreOf clusterSubnets other⟩ : SubnetScore) ∈
        ranked sorter clusterSubnets subnets := mem_ranked_iff.mpr ⟨inSubnets, rfl⟩
    have behind := before_of_key_notMem_take
      (fun earlier later : SubnetScore => later.score ≤ earlier.score) (fun _ => le_rfl)
      (fun first second => second.trans first) (pairwise_ranked sorter clusterSubnets subnets)
      otherRanked out inTake
    have scored := (mem_ranked_iff.mp
      ((firstPerKey_sublist _ _).subset ((take_sublist _ _).subset inTake))).2
    rw [← scored]
    exact behind

end

/-- The subnet is available, with enough free addresses and the required tags. -/
structure Eligible (strategy : PlacementStrategy) (subnet : SubnetRecord) : Prop where
  available : subnet.state = "available"
  room : ∀ criteria, strategy.subnetSelection = some criteria →
    0 < criteria.minimumAvailableIPs → criteria.minimumAvailableIPs ≤ subnet.availableIPs
  tags : ∀ criteria, strategy.subnetSelection = some criteria →
    ∀ key value, criteria.requiredTags.lookup key = some value → subnet.tags.read key = value

theorem hasAllTags_iff {requiredTags tags : StringMap} : hasAllTags requiredTags tags = true ↔
      ∀ key value, requiredTags.lookup key = some value → tags.read key = value := by
  rw [hasAllTags, decide_eq_true_iff]
  constructor
  · intro all key value found
    have same := all key (Finmap.mem_keys.mpr (Finmap.mem_of_lookup_eq_some found))
    rw [same, StringMap.read, found]
    rfl
  intro all key mem
  obtain ⟨value, found⟩ := Finmap.mem_iff.mp (Finmap.mem_keys.mp mem)
  rw [all key value found, StringMap.read, found]
  rfl

theorem eligible_iff {strategy : PlacementStrategy} {subnet : SubnetRecord} :
    eligible strategy subnet = true ↔ Eligible strategy subnet := by
  unfold eligible
  by_cases available : subnet.state = "available"
  · rw [if_neg (not_not.mpr available)]
    cases selection : strategy.subnetSelection with
    | none =>
      refine iff_of_true rfl ⟨available, ?_, ?_⟩
      · intro criteria no
        cases selection.symm.trans no
      intro criteria no
      cases selection.symm.trans no
    | some criteria =>
      dsimp only
      constructor
      · intro passed
        split_ifs at passed with short
        refine ⟨available, ?_, ?_⟩
        · intro other same positive
          obtain rfl := Option.some.inj (selection.symm.trans same)
          omega
        intro other same
        obtain rfl := Option.some.inj (selection.symm.trans same)
        exact hasAllTags_iff.mp passed
      · intro meets
        rw [if_neg, hasAllTags_iff]
        · exact meets.tags criteria selection
        rintro ⟨positive, short⟩
        have room := meets.room criteria selection positive
        omega
  · rw [if_pos available]
    exact iff_of_false Bool.false_ne_true fun meets => available meets.available

def roomySubnet : SubnetRecord :=
  ⟨⟨"0717-roomy", "us-south-1", "available", 100⟩, "10.0.0.0/24", ∅, 256, 156, 0⟩

def fullSubnet : SubnetRecord :=
  ⟨⟨"0727-full", "us-south-2", "available", 3⟩, "10.0.1.0/24", ∅, 256, 253, 0⟩

def balancedStrategy : PlacementStrategy := ⟨"Balanced", none⟩

/-- The instances are asked for in this order, as far as there are answers. -/
def lookups (instanceIDs : List String) (answers : List (Option (Option String))) :
    List selecting.Exchange :=
  List.zipWith (fun instanceID answer => ⟨.getInstance instanceID, answer⟩) instanceIDs answers

/-- A subnet with a name is counted as often as an answer has it, and not at all when none
has. -/
def Counts (answers : List (Option (Option String))) (counted : ClusterSubnets) : Prop :=
  ∀ subnetID, counted.lookup subnetID =
    if subnetID = "" ∨ answers.count (some (some subnetID)) = 0 then none
    else some (answers.count (some (some subnetID)))

/-- Each listed node of this cloud is looked up once, in the order of the list, and the
answers are counted; a subnet without an ID ends the survey. -/
def Surveys (providerIDs : List String) (exchanges : List selecting.Exchange)
    (earlier : List (Option (Option String))) (outcome : Except Failure ClusterSubnets) : Prop :=
  let instanceIDs := providerIDs.filterMap instanceOf
  ∃ answers, exchanges = lookups instanceIDs answers ∧ answers.length ≤ instanceIDs.length ∧
    ((∃ before, answers = before ++ [some none] ∧ some none ∉ before ∧
        outcome = .error .panic) ∨
      answers.length = instanceIDs.length ∧ some none ∉ answers ∧
        ∃ counted, outcome = .ok counted ∧ Counts (earlier ++ answers) counted)

variable {earlier : List (Option (Option String))} {counted : ClusterSubnets}

theorem Counts.unnamed (counts : Counts earlier counted) {answer : Option (Option String)}
    (unnamed : ∀ subnetID, answer = some (some subnetID) → subnetID = "") :
    Counts (earlier ++ [answer]) counted := by
  intro subnetID
  rw [counts subnetID, count_append, count_singleton]
  by_cases same : answer = some (some subnetID)
  · simp [unnamed subnetID same]
  · simp [same]

theorem Counts.add (counts : Counts earlier counted) {found : String} (named : found ≠ "") :
    Counts (earlier ++ [some (some found)])
      (counted.insert found ((counted.lookup found).getD 0 + 1)) := by
  intro subnetID
  rw [count_append, count_singleton]
  by_cases same : subnetID = found
  · subst same
    rw [Finmap.lookup_insert, counts subnetID]
    by_cases first : earlier.count (some (some subnetID)) = 0
    · simp [named, first]
    · simp [named, first]
  · rw [Finmap.lookup_insert_of_ne _ same, counts subnetID]
    simp [Ne.symm same]

section
variable {providerID instanceID : String} {rest : List String}
  {exchanges : List selecting.Exchange} {outcome : Except Failure ClusterSubnets}

theorem Surveys.skip (other : instanceOf providerID = none)
    (surveys : Surveys rest exchanges earlier outcome) :
    Surveys (providerID :: rest) exchanges earlier outcome := by
  unfold Surveys
  rwa [filterMap_cons_none other]

theorem Surveys.cons {answer : Option (Option String)}
    (ours : instanceOf providerID = some instanceID) (present : answer ≠ some none)
    (surveys : Surveys rest exchanges (earlier ++ [answer]) outcome) :
    Surveys (providerID :: rest) (⟨.getInstance instanceID, answer⟩ :: exchanges) earlier
      outcome := by
  obtain ⟨answers, rfl, within, ending⟩ := surveys
  unfold Surveys
  rw [filterMap_cons_some ours]
  refine ⟨answer :: answers, rfl, Nat.succ_le_succ within, ?_⟩
  rcases ending with ⟨before, rfl, clear, ended⟩ | ⟨all, clear, counted, ended, counts⟩
  · exact .inl ⟨answer :: before, rfl, by simp [Ne.symm present, clear], ended⟩
  · refine .inr ⟨congrArg (· + 1) all, by simp [Ne.symm present, clear], counted, ended, ?_⟩
    rwa [append_assoc] at counts

theorem countSubnets_surveys {providerIDs : List String} (counts : Counts earlier counted)
    (runs : Runs (countSubnets providerIDs counted) exchanges outcome) :
    Surveys providerIDs exchanges earlier outcome := by
  induction providerIDs generalizing earlier counted exchanges with
  | nil =>
    obtain ⟨rfl, rfl⟩ := runs
    exact ⟨[], rfl, le_rfl, .inr ⟨rfl, nofun, counted, rfl, by rwa [append_nil]⟩⟩
  | cons providerID rest ih =>
    rw [countSubnets, extractSubnetFromNode] at runs
    by_cases unset : providerID = ""
    · rw [if_pos unset] at runs
      exact (ih counts runs).skip (by rw [unset]; decide)
    rw [if_neg unset, parseSubnetFromProviderID] at runs
    cases ours : instanceOf providerID with
    | none =>
      rw [ours] at runs
      exact (ih counts runs).skip ours
    | some instanceID =>
      rw [ours] at runs
      obtain ⟨answer, later, rfl, ran⟩ := runs
      match answer, ran with
      | none, ran =>
        refine (ih (counts.unnamed ?_) ran).cons ours nofun
        rintro _ ⟨⟩
      | some none, ran =>
        obtain ⟨rfl, rfl⟩ := ran
        unfold Surveys
        rw [filterMap_cons_some ours]
        exact ⟨[some none], by simp [lookups], by simp, .inl ⟨[], rfl, nofun, rfl⟩⟩
      | some (some found), ran =>
        by_cases unnamed : found = ""
        · subst unnamed
          refine (ih (counts.unnamed ?_) ran).cons ours nofun
          rintro _ ⟨⟩
          rfl
        · change Runs (if found = "" then _ else _) _ _ at ran
          rw [if_neg unnamed] at ran
          exact (ih (counts.add unnamed) ran).cons ours nofun

end

/-- In every run the nodes are listed and each listed node of this cloud is looked up; the
counts are those of the answers.  Only a subnet without an ID keeps the call from returning. -/
theorem getExistingClusterSubnets_counts (hasKubeClient : Bool)
    (exchanges : List selecting.Exchange) (outcome : Except Failure ClusterSubnets)
    (runs : Runs (getExistingClusterSubnets hasKubeClient) exchanges outcome) :
    (hasKubeClient = false ∧ exchanges = [] ∧ outcome = .ok ∅) ∨
    (hasKubeClient = true ∧ ∃ error, exchanges = [⟨.listNodes, .error error⟩] ∧ outcome = .ok ∅) ∨
    (hasKubeClient = true ∧ ∃ providerIDs later,
      exchanges = ⟨.listNodes, .ok providerIDs⟩ :: later ∧
        Surveys providerIDs later [] outcome) := by
  cases hasKubeClient with
  | false => exact .inl ⟨rfl, runs⟩
  | true =>
    obtain ⟨listed, later, rfl, ran⟩ := runs
    cases listed with
    | error error =>
      obtain ⟨rfl, rfl⟩ := ran
      exact .inr (.inl ⟨rfl, error, rfl, rfl⟩)
    | ok providerIDs =>
      exact .inr (.inr ⟨rfl, providerIDs, later, rfl, countSubnets_surveys (fun _ => by simp) ran⟩)

def sampleNodes : List String :=
  ["ibm:///us-south/a", "aws:///us-east-1/b", "ibm:///us-south/c", "ibm:///us-south/d"]

/-- Two nodes in one subnet, one of another cloud and one that cannot be read. -/
theorem getExistingClusterSubnets_counts_sample :
    Surveys sampleNodes
      (lookups ["a", "c", "d"] [some (some "0717-roomy"), some (some "0717-roomy"), none]) []
      (.ok (Finmap.singleton "0717-roomy" 2)) := by
  have run : Runs (getExistingClusterSubnets true)
      (⟨.listNodes, .ok sampleNodes⟩ ::
        lookups ["a", "c", "d"] [some (some "0717-roomy"), some (some "0717-roomy"), none])
      (.ok (Finmap.singleton "0717-roomy" 2)) :=
    ⟨_, _, rfl, _, _, rfl, _, _, rfl, _, _, rfl, rfl, rfl⟩
  rcases getExistingClusterSubnets_counts _ _ _ run with
    ⟨no, _⟩ | ⟨_, _, same, _⟩ | ⟨_, _, _, same, surveys⟩
  · cases no
  · cases same
  · cases same
    exact surveys

end KarpenterIBM.SubnetSelection
