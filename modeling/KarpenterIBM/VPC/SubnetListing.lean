import KarpenterIBM.Client.Pagination
import KarpenterIBM.NodeClass.Validation

/-!
# Listing the subnets of a VPC

`ListSubnets` of the VPC client of `pkg/cloudprovider/ibm`, under `ListSubnets` of the subnet
provider.
-/

namespace KarpenterIBM.SubnetListing

open EffectProgram Errors List NodeClassStatus Pagination

structure SubnetFilter where
  vpcID : Option String

/-- `ListSubnets` of the VPC client.  The provider reads the collection it returns, and a
missing one is dereferenced there. -/
def clientListSubnets (initialized : Bool) (vpcID : String) :
    Prog (listing SubnetFilter VPCSubnet) Failure (List VPCSubnet) :=
  if initialized = false then .fail (.error (.plain "VPC client not initialized"))
  else
    .call (⟨none, none, ⟨some vpcID⟩⟩ : ListOptions SubnetFilter) fun answer =>
      match answer with
      | .error error => .fail (.error (.wrap "listing subnets: " error ""))
      | .ok none => .fail .panic
      | .ok (some page) => pure page.items

/-! ## An API with pages -/

/-- The pages in which an API serves the subnets of a VPC, and the tokens it gives them. -/
structure PagedAPI where
  first : List VPCSubnet
  later : List (List VPCSubnet)
  token : Nat → String

variable (api : PagedAPI)

def PagedAPI.subnets : List VPCSubnet :=
  (api.first :: api.later).flatten

/-- A page, with the token of the next one if there is one. -/
def PagedAPI.page (index : Nat) : Page VPCSubnet where
  items := (api.first :: api.later).getD index []
  nextStart := .ok (if index < api.later.length then some (api.token (index + 1)) else none)

def PagedAPI.serve : Option String → Page VPCSubnet
  | none => api.page 0
  | some token =>
    match (List.range (api.later.length + 1)).find? fun index => api.token index = token with
    | some index => api.page index
    | none => ⟨[], .ok none⟩

/-- The client lists these subnets against the API. -/
def Lists (vpcID : String) (subnets : List VPCSubnet) : Prop :=
  ∃ trace, Runs (clientListSubnets true vpcID) trace (.ok subnets) ∧
    ∀ (options : ListOptions SubnetFilter) (answer : Except GoError (Option (Page VPCSubnet))),
      ⟨options, answer⟩ ∈ trace → answer = .ok (some (api.serve options.start))

/-- The calls of the provider with an empty cache, answered by the client and the API. -/
structure ServedBy (api : PagedAPI) (trace : List validating.Exchange) : Prop where
  empty : ∀ vpcID answer, ⟨.cachedSubnets vpcID, answer⟩ ∈ trace → answer = none
  client : ∀ answer, ⟨.getVPCClient, answer⟩ ∈ trace → answer = .ok ()
  lists : ∀ vpcID answer, ⟨.listSubnets vpcID, answer⟩ ∈ trace →
    ∃ subnets, answer = .ok subnets ∧ Lists api vpcID subnets

theorem Lists.eq_first {api : PagedAPI} {vpcID : String} {subnets : List VPCSubnet}
    (lists : Lists api vpcID subnets) : subnets = api.first := by
  obtain ⟨trace, run, served⟩ := lists
  unfold clientListSubnets at run
  rw [if_neg Bool.noConfusion] at run
  obtain ⟨answer, later, rfl, run⟩ := run
  rw [served _ answer mem_cons_self] at run
  exact Except.ok.inj run.2

theorem lists_first (vpcID : String) : Lists api vpcID api.first := by
  refine ⟨[⟨⟨none, none, ⟨some vpcID⟩⟩, .ok (some (api.serve none))⟩], ?_, ?_⟩
  · exact ⟨_, [], rfl, rfl, rfl⟩
  intro options answer mem
  cases mem_singleton.mp mem
  rfl

theorem listSubnets_first {api : PagedAPI} {vpcID : String} {trace : List validating.Exchange}
    {out : Except GoError (List Objects.SubnetInfo)}
    (run : Runs (listSubnets .complete vpcID) trace out) (served : ServedBy api trace) :
    out = .ok (api.first.map convertVPCSubnetToSubnetInfo) := by
  unfold listSubnets at run
  rw [if_neg Bool.noConfusion] at run
  obtain ⟨cached, afterCache, rfl, run⟩ := run
  obtain rfl := served.empty vpcID cached mem_cons_self
  obtain ⟨client, afterClient, rfl, run⟩ := run
  obtain rfl := served.client client (by simp)
  obtain ⟨answer, afterList, rfl, run⟩ := run
  obtain ⟨subnets, rfl, lists⟩ := served.lists vpcID answer (by simp)
  obtain rfl := lists.eq_first
  obtain ⟨_, _, rfl, run⟩ := run
  exact run.2

/-- The provider lists every subnet of the VPC once exactly when the pages after the first
are empty. -/
theorem listSubnets_complete_iff (api : PagedAPI) (vpcID : String)
    {trace : List validating.Exchange} {outcome : Except GoError (List Objects.SubnetInfo)}
    (run : Runs (listSubnets .complete vpcID) trace outcome) (served : ServedBy api trace) :
    (∃ infos, outcome = .ok infos ∧ infos.Perm (api.subnets.map convertVPCSubnetToSubnetInfo)) ↔
      api.later.flatten = [] := by
  rw [listSubnets_first run served]
  have split : api.subnets = api.first ++ api.later.flatten := rfl
  constructor
  · rintro ⟨infos, same, perm⟩
    obtain rfl := Except.ok.inj same
    have length := perm.length_eq
    rw [length_map, length_map, split, length_append] at length
    exact eq_nil_of_length_eq_zero (by omega)
  · intro empty
    refine ⟨_, rfl, ?_⟩
    rw [split, empty, append_nil]

/-! ## Two pages -/

def firstSubnet : VPCSubnet := ⟨"0717-a", "us-south-1", "available", some 100⟩
def secondSubnet : VPCSubnet := ⟨"0727-b", "us-south-2", "available", some 100⟩

def twoPages : PagedAPI := ⟨[firstSubnet], [[secondSubnet]], fun index => toString index⟩

def listingTrace : List validating.Exchange :=
  [⟨.cachedSubnets "vpc", none⟩, ⟨.getVPCClient, .ok ()⟩, ⟨.listSubnets "vpc", .ok api.first⟩,
    ⟨.cacheSubnets "vpc" (api.first.map convertVPCSubnetToSubnetInfo), ()⟩]

theorem runs_listSubnets : Runs (listSubnets .complete "vpc") (listingTrace api)
      (.ok (api.first.map convertVPCSubnetToSubnetInfo)) :=
  ⟨none, _, rfl, .ok (), _, rfl, .ok api.first, _, rfl, (), [], rfl, rfl, rfl⟩

theorem servedBy_listingTrace : ServedBy api (listingTrace api) where
  empty vpcID answer member := by
    simp only [listingTrace, mem_cons, not_mem_nil, or_false] at member
    rcases member with same | same | same | same <;> cases same
    rfl
  client answer member := by
    simp only [listingTrace, mem_cons, not_mem_nil, or_false] at member
    rcases member with same | same | same | same <;> cases same
    rfl
  lists vpcID answer member := by
    simp only [listingTrace, mem_cons, not_mem_nil, or_false] at member
    rcases member with same | same | same | same <;> cases same
    exact ⟨_, rfl, lists_first api "vpc"⟩

theorem listSubnets_complete_iff_sample :
    (∃ infos, (.ok (twoPages.first.map convertVPCSubnetToSubnetInfo) :
          Except GoError (List Objects.SubnetInfo)) = .ok infos ∧
        infos.Perm (twoPages.subnets.map convertVPCSubnetToSubnetInfo)) ↔
      twoPages.later.flatten = [] :=
  listSubnets_complete_iff twoPages "vpc" (runs_listSubnets twoPages)
    (servedBy_listingTrace twoPages)

/-- Of two subnets on two pages the provider lists one. -/
theorem second_page_missed : ∃ trace infos, Runs (listSubnets .complete "vpc") trace (.ok infos) ∧
      ServedBy twoPages trace ∧
      ¬ infos.Perm (twoPages.subnets.map convertVPCSubnetToSubnetInfo) := by
  refine ⟨_, _, runs_listSubnets twoPages, servedBy_listingTrace twoPages, fun perm => ?_⟩
  exact absurd perm.length_eq (by decide)

end KarpenterIBM.SubnetListing
