import KarpenterIBM.CacheRefinement
import KarpenterIBM.NodeClass.Validation
import KarpenterIBM.VPC.Launch

/-!
# The cache of VPC nodes

`get` of `pkg/providers/vpc/instance` and the loop of its `List`, with the answers of the cloud
given for each call; of `Delete` only what it does to the cache.
-/

namespace KarpenterIBM.VPCNodeCache

open Errors KeyedMap Objects Ownership TTLCache VPCLaunch

def getCapacityTypeFromAvailabilityClass : String → String
  | "spot" => capacityTypeSpot
  | _ => capacityTypeOnDemand

def nodeLabels (found : Instance) : StringMap :=
  let base : StringMap := Finmap.singleton capacityTypeLabel
    (getCapacityTypeFromAvailabilityClass (found.availabilityClass.getD ""))
  let typed := found.profile.elim base (base.insert instanceTypeLabel)
  found.zone.elim typed (typed.insert zoneLabel)

def nodeOf (name : String) (labels : StringMap) (annotations : ValueMap) (providerID : String) :
    Node :=
  { name, labels, annotations, providerID, uid := "", finalizers := [], deletionTimestamp := none,
    capacity := ∅, allocatable := ∅ }

/-- The node that `get` makes of an instance. -/
def fetchedNode (found : Instance) (name accountID providerID : String) : Node :=
  nodeOf name (nodeLabels found) (Finmap.singleton accountIDAnnotation (.text accountID)) providerID

/-- The node that `List` makes of it. -/
def listedNode (name zone id : String) : Node :=
  nodeOf name ∅ ∅ (providerIDOf (NodeClassStatus.extractRegionFromZone zone) id)

def isDeleting (found : Instance) : Bool := found.status = some "deleting"

/-- The account of the region's client and the instance, as `get` finds them. -/
structure Answers where
  account : Except GoError String
  found : Except GoError (Option Instance)

def unexpectedIdentity : GoError := .plain "instance response has unexpected identity"

def fetch (providerID instanceID : String) (answers : Answers) :
    Except GoError (Instance × Node) := do
  let accountID ← answers.account
  match answers.found with
  | .error error =>
    if isNotFound error then
      .error (newNodeClaimNotFoundError (.plain ("instance " ++ instanceID ++ " not found")))
    else .error (.wrap ("getting VPC instance " ++ instanceID ++ ": ") error "")
  | .ok none => .error unexpectedIdentity
  | .ok (some found) =>
    match found.name with
    | none => .error unexpectedIdentity
    | some name =>
      if found.id ≠ some instanceID then .error unexpectedIdentity
      else do
        verifyInstanceAccount found accountID
        .ok (found, fetchedNode found name accountID providerID)

/-- `Get` with the cache, `GetFresh` without it. -/
def get (useCache : Bool) (cache : Cache Node) (began ended : Int) (providerID : String)
    (answers : Answers) : Except GoError Node × Cache Node :=
  let instanceID := extractInstanceIDFromProviderID providerID
  if instanceID = "" then
    (.error (.plain ("could not extract instance ID from provider ID: " ++ providerID)), cache)
  else
    match if useCache then cache.get began instanceID else (none, cache) with
    | (some cached, kept) => (.ok cached, kept)
    | (none, kept) =>
      match fetch providerID instanceID answers with
      | .error error => (.error error, kept)
      | .ok (found, node) =>
        (.ok node, if isDeleting found then kept else kept.set ended instanceID node)

/-- One listed instance, stored at its own moment. -/
def listOne (cache : Cache Node) (found : Instance) (now : Int) : Option Node × Cache Node :=
  match found.id, found.name, found.zone with
  | some id, some name, some zone =>
    (some (listedNode name zone id),
      if isDeleting found then cache else cache.set now id (listedNode name zone id))
  | _, _, _ => (none, cache)

def list (cache : Cache Node) : List (Instance × Int) → List Node × Cache Node
  | [] => ([], cache)
  | (found, now) :: rest =>
    let (node, kept) := listOne cache found now
    let (nodes, last) := list kept rest
    (node.toList ++ nodes, last)

/-! ## Histories -/

inductive Event where
  | get (useCache : Bool) (began ended : Int) (providerID : String) (answers : Answers)
  | list (listed : List (Instance × Int))
  /-- A `Delete` whose request was accepted or found no instance. -/
  | delete (providerID : String)

def Event.after (cache : Cache Node) : Event → Cache Node
  | .get useCache began ended providerID answers =>
    (VPCNodeCache.get useCache cache began ended providerID answers).2
  | .list listed => (VPCNodeCache.list cache listed).2
  | .delete providerID => cache.delete (extractInstanceIDFromProviderID providerID)

def cacheAfter (ttl : Int) (events : List Event) : Cache Node :=
  events.foldl Event.after (Cache.new ttl)

/-- What the call fetches under the ID of the instance is the instance. -/
def Event.Shows (inst : Instance) : Event → Prop
  | .get _ _ _ _ answers =>
    ∀ found, answers.found = .ok (some found) → found.id = inst.id → found = inst
  | .list listed => ∀ item ∈ listed, item.1.id = inst.id → item.1 = inst
  | .delete _ => True

/-- What the call can store under an instance ID: `get` what it fetched, `List` its own node. -/
inductive Event.Stores (id : String) : Event → Node → Prop where
  | fetched {useCache : Bool} {began ended : Int} {providerID : String} {answers : Answers}
      {found : Instance} {node : Node} (asked : extractInstanceIDFromProviderID providerID = id)
      (fetched : fetch providerID id answers = .ok (found, node)) :
      Stores id (.get useCache began ended providerID answers) node
  | listed (name zone : String) (listed : List (Instance × Int)) :
      Stores id (.list listed) (listedNode name zone id)

/-- A `Get` or `GetFresh` of this provider ID that fetched the node. -/
def Event.Fetches (providerID : String) (node : Node) : Event → Prop
  | .get _ _ _ asked answers => asked = providerID ∧ ∃ found,
      fetch providerID (extractInstanceIDFromProviderID providerID) answers = .ok (found, node)
  | _ => False

/-- Every entry was stored by one of the calls. -/
def Sound (events : List Event) (cache : Cache Node) : Prop :=
  ∀ id entry, cache.items.lookup id = some entry → ∃ event ∈ events, event.Stores id entry.value

variable {providerID : String} {node : Node}

section
variable {events : List Event} {cache : Cache Node}

theorem Sound.erase (sound : Sound events cache) (key : String) :
    Sound events { cache with items := cache.items.erase key } := by
  intro id entry found
  refine sound id entry ?_
  change (cache.items.erase key).lookup id = some entry at found
  by_cases same : id = key
  · subst same
    rw [Finmap.lookup_erase] at found
    cases found
  · rwa [Finmap.lookup_erase_ne same] at found

theorem Sound.get (sound : Sound events cache) (now : Int) (key : String) :
    Sound events (cache.get now key).2 := by
  unfold Cache.get
  split
  · exact sound
  split
  · exact sound.erase key
  · exact sound

theorem Sound.set (sound : Sound events cache) {key : String} (now : Int)
    (stores : ∃ event ∈ events, event.Stores key node) : Sound events (cache.set now key node) := by
  intro id entry found
  change Finmap.lookup id (Finmap.insert key _ (cache.swept now).items) = some entry at found
  by_cases same : id = key
  · subst same
    rw [Finmap.lookup_insert] at found
    cases found
    exact stores
  rw [Finmap.lookup_insert_of_ne _ same] at found
  refine sound id entry ?_
  unfold Cache.swept at found
  split at found
  · simp only [Cache.removeExpired, lookup_filterMapValues, Option.bind_eq_some_iff] at found
    obtain ⟨held, stored, live⟩ := found
    split at live
    · cases live
    · cases live
      exact stored
  · exact found

theorem fetchedNode_annotated (found : Instance) (name accountID providerID : String) :
    (fetchedNode found name accountID providerID).annotations ≠ ∅ := by
  intro blank
  have entry := congrArg (Finmap.lookup accountIDAnnotation) blank
  simp [fetchedNode, nodeOf] at entry

theorem fetch_ok {id : String} {answers : Answers} {found : Instance}
    (fetched : fetch providerID id answers = .ok (found, node)) :
    answers.found = .ok (some found) ∧ found.id = some id ∧ ∃ name accountID,
      found.name = some name ∧ verifyInstanceAccount found accountID = .ok () ∧
        node = fetchedNode found name accountID providerID := by
  obtain ⟨account, shown⟩ := answers
  unfold fetch at fetched
  cases account with
  | error error => cases fetched
  | ok accountID =>
    simp only [bind, Except.bind] at fetched
    split at fetched
    · split at fetched <;> cases fetched
    · cases fetched
    split at fetched
    · cases fetched
    rename_i name named
    split at fetched
    · cases fetched
    rename_i identity
    split at fetched
    · cases fetched
    rename_i verified
    cases fetched
    exact ⟨rfl, not_not.mp identity, name, accountID, named, verified, rfl⟩

theorem Sound.after_get (sound : Sound events cache) {useCache : Bool} {began ended : Int}
    {answers : Answers} (mem : .get useCache began ended providerID answers ∈ events) :
    Sound events (VPCNodeCache.get useCache cache began ended providerID answers).2 := by
  unfold VPCNodeCache.get
  generalize asked : extractInstanceIDFromProviderID providerID = id
  dsimp only
  split
  · exact sound
  have kept : Sound events (if useCache then cache.get began id else (none, cache)).2 := by
    split
    · exact sound.get began id
    · exact sound
  split
  · rename_i hit
    rw [hit] at kept
    exact kept
  rename_i missed
  rw [missed] at kept
  split
  · exact kept
  rename_i fetched
  dsimp only
  split
  · exact kept
  · exact kept.set ended ⟨_, mem, .fetched asked fetched⟩

theorem Sound.after_list {listed : List (Instance × Int)} (mem : .list listed ∈ events)
    (part : List (Instance × Int)) (sound : Sound events cache) :
    Sound events (list cache part).2 := by
  induction part generalizing cache with
  | nil => exact sound
  | cons item rest ih =>
    have one : Sound events (listOne cache item.1 item.2).2 := by
      unfold listOne
      split
      · dsimp only
        split
        · exact sound
        · exact sound.set _ ⟨_, mem, .listed ..⟩
      · exact sound
    exact ih one

theorem Sound.after (sound : Sound events cache) {event : Event} (mem : event ∈ events) :
    Sound events (event.after cache) := by
  cases event with
  | get useCache began ended providerID answers => exact sound.after_get mem
  | list listed => exact sound.after_list mem listed
  | delete providerID => exact sound.erase _

theorem sound_cacheAfter (ttl : Int) (events : List Event) :
    Sound events (cacheAfter ttl events) := by
  have all : ∀ part ⊆ events, ∀ cache, Sound events cache →
      Sound events (part.foldl Event.after cache) := by
    intro part
    induction part with
    | nil => exact fun _ _ sound => sound
    | cons event rest ih =>
      intro within cache sound
      obtain ⟨mem, later⟩ := List.cons_subset.mp within
      exact ih later _ (sound.after mem)
  exact all events (List.Subset.refl _) _ fun id entry found => nomatch found

/-- An entry with an account was fetched, and for the provider ID that it has. -/
theorem fetched_for_iff {id : String} (asked : extractInstanceIDFromProviderID providerID = id)
    (stored : ∃ event ∈ events, event.Stores id node) :
    node.annotations ≠ ∅ ∧ node.providerID = providerID ↔
      ∃ event ∈ events, event.Fetches providerID node := by
  constructor
  · rintro ⟨account, same⟩
    obtain ⟨event, mem, stores⟩ := stored
    cases stores with
    | listed => exact absurd rfl account
    | fetched _ fetched =>
      obtain ⟨_, _, name, accountID, _, _, rfl⟩ := fetch_ok fetched
      obtain rfl := same
      exact ⟨_, mem, rfl, _, asked ▸ fetched⟩
  · rintro ⟨event, _, fetches⟩
    cases event with
    | get useCache began ended asked answers =>
      obtain ⟨_, found, fetched⟩ := fetches
      obtain ⟨_, _, name, accountID, _, _, rfl⟩ := fetch_ok fetched
      exact ⟨fetchedNode_annotated _ _ _ _, rfl⟩
    | list listed | delete providerID => exact fetches.elim

end

/-! ## The result -/

theorem account_unique {inst : Instance} {first second : String}
    (one : verifyInstanceAccount inst first = .ok ())
    (two : verifyInstanceAccount inst second = .ok ()) : first = second := by
  unfold verifyInstanceAccount at one two
  cases crn : inst.crn with
  | none =>
    rw [crn] at one
    cases one
  | some text =>
    rw [crn] at one two
    dsimp only at one two
    split_ifs at one two with _ mine other
    rw [not_or, not_or, not_not, not_not, not_not] at mine other
    exact (String.append_right_inj _).mp (mine.2.2.symm.trans other.2.2)

theorem stored_of_live {events : List Event} {ttl began : Int} {id : String}
    (held : (cacheAfter ttl events).live began id = some node) :
    ∃ event ∈ events, event.Stores id node := by
  obtain ⟨entry, stored, kept⟩ := Option.bind_eq_some_iff.mp held
  split at kept
  · cases kept
  · exact Option.some.inj kept ▸ sound_cacheAfter ttl events id entry stored

/-- `Get` returns what `GetFresh` returns at that moment exactly when the entry it finds, if any,
has an account and this provider ID, which are the entries that one of the two stored for it. -/
theorem cached_node_fresh_iff {inst : Instance} (ttl : Int) {events : List Event}
    (shows : ∀ event ∈ events, event.Shows inst) (began ended : Int) {providerID : String}
    {answers : Answers} (unchanged : answers.found = .ok (some inst)) {fresh : Node}
    (gives : (get false (cacheAfter ttl events) began ended providerID answers).1 = .ok fresh) :
    ((get true (cacheAfter ttl events) began ended providerID answers).1 = .ok fresh ↔
      ∀ cached, (cacheAfter ttl events).live began (extractInstanceIDFromProviderID providerID) =
        some cached → cached.annotations ≠ ∅ ∧ cached.providerID = providerID) ∧
    ∀ cached, (cacheAfter ttl events).live began (extractInstanceIDFromProviderID providerID) =
      some cached → (cached.annotations ≠ ∅ ∧ cached.providerID = providerID ↔
        ∃ event ∈ events, event.Fetches providerID cached) := by
  have origin : ∀ {id node}, (cacheAfter ttl events).live began id = some node →
      ∃ event ∈ events, event.Stores id node := stored_of_live
  refine ⟨?_, fun cached held => fetched_for_iff rfl (origin held)⟩
  generalize cacheAfter ttl events = cache at *
  unfold get at gives ⊢
  generalize extractInstanceIDFromProviderID providerID = id at *
  dsimp only at gives ⊢
  split at gives
  · cases gives
  rename_i present
  rw [if_neg present, if_pos rfl]
  simp only [Bool.false_eq_true, if_false] at gives
  split at gives
  · cases gives
  rename_i found node fetched
  cases gives
  obtain ⟨shown, identity, name, accountID, named, verified, rfl⟩ := fetch_ok fetched
  obtain rfl : inst = found := Option.some.inj (Except.ok.inj (unchanged.symm.trans shown))
  have hit := get_fst cache began id
  cases read : cache.get began id with
  | mk held kept =>
  rw [read] at hit
  subst hit
  cases held : cache.live began id with
  | none => simp
  | some cached =>
    simp only [Except.ok.injEq, Option.some.injEq, forall_eq']
    constructor
    · rintro rfl
      exact ⟨fetchedNode_annotated _ _ _ _, rfl⟩
    rintro ⟨account, same⟩
    obtain ⟨event, mem, stores⟩ := origin held
    cases stores with
    | fetched _ storedFetch =>
      obtain ⟨storedShown, storedIdentity, _, _, storedName, storedVerified, rfl⟩ :=
        fetch_ok storedFetch
      obtain rfl := shows _ mem _ storedShown (storedIdentity.trans identity.symm)
      cases named.symm.trans storedName
      rw [account_unique storedVerified verified]
      exact congrArg _ same
    | listed => exact absurd rfl account

def sampleInstance : Instance :=
  { id := some "i", name := some "n", status := none, crn := some "crn::::::a/x:::",
    profile := none, zone := some "us-south-1", vpc := none, image := none,
    attachmentSubnet := none, interfaceSubnet := none, resourceGroup := none,
    availabilityClass := none }

def sampleAnswers : Answers := ⟨.ok "x", .ok (some sampleInstance)⟩

def sampleID : String := "ibm:///us-south/i"

def sampleHistory : List Event :=
  [.list [(sampleInstance, 0)], .get false 1 1 sampleID sampleAnswers]

/-- A `GetFresh` takes the place of the listed entry, and `Get` finds what it stored. -/
theorem cached_node_fresh_iff_sample :
    (cacheAfter minute sampleHistory).live 2 "i" =
        some (fetchedNode sampleInstance "n" "x" sampleID) ∧
      (get true (cacheAfter minute sampleHistory) 2 2 sampleID sampleAnswers).1 =
        .ok (fetchedNode sampleInstance "n" "x" sampleID) ∧
      ∃ event ∈ sampleHistory,
        event.Fetches sampleID (fetchedNode sampleInstance "n" "x" sampleID) := by
  have held : (cacheAfter minute sampleHistory).live 2 "i" =
      some (fetchedNode sampleInstance "n" "x" sampleID) := by decide +kernel
  have shows : ∀ event ∈ sampleHistory, event.Shows sampleInstance := by
    simp [sampleHistory, Event.Shows, sampleAnswers, eq_comm]
  have shown : sampleAnswers.found = .ok (some sampleInstance) := rfl
  have gives : (get false (cacheAfter minute sampleHistory) 2 2 sampleID sampleAnswers).1 =
      .ok (fetchedNode sampleInstance "n" "x" sampleID) := by decide +kernel
  obtain ⟨agrees, storedFor⟩ := cached_node_fresh_iff minute shows 2 2 shown gives
  have asked : extractInstanceIDFromProviderID sampleID = "i" := by decide +kernel
  rw [asked] at agrees storedFor
  have own : (fetchedNode sampleInstance "n" "x" sampleID).annotations ≠ ∅ ∧
    (fetchedNode sampleInstance "n" "x" sampleID).providerID = sampleID := by decide +kernel
  refine ⟨held, agrees.mpr fun cached found => ?_, (storedFor _ held).mp own⟩
  cases held.symm.trans found
  exact own

def listedCache : Cache Node := cacheAfter minute [.list [(sampleInstance, 0)]]

/-- The node of a listing has no labels, where a fresh one has its capacity type. -/
theorem listed_node_returned :
    (get true listedCache 1 1 sampleID sampleAnswers).1 = .ok (listedNode "n" "us-south-1" "i") ∧
      (get false listedCache 1 1 sampleID sampleAnswers).1 =
        .ok (fetchedNode sampleInstance "n" "x" sampleID) ∧
      (listedNode "n" "us-south-1" "i").labels ≠
        (fetchedNode sampleInstance "n" "x" sampleID).labels := by
  decide +kernel

end KarpenterIBM.VPCNodeCache
