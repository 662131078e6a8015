import KarpenterIBM.CloudProvider.Create
import KarpenterIBM.Lib.GoText
import KarpenterIBM.OrphanCleanup.Controller

/-!
# Provider IDs

The ID of a node says which backend made it and where: `ibm:///region/instance` for a VPC
instance, `ibm://account///cluster/worker` for an IKS worker.
-/

namespace KarpenterIBM.ProviderIDs

open CloudProvider (ProviderMode)
open Errors IKSAllocation Objects Text VPCLaunch

/-! ## The source -/

/-- The NodeClass of `classForProviderID`, in which one field is set, and the mode. -/
structure ProviderTarget where
  region : String
  iksClusterID : String
  mode : ProviderMode
deriving DecidableEq

def classForProviderID (table : Char → Bool) (providerID : String) :
    Except GoError ProviderTarget :=
  if hasLead providerID "ibm:///" then
    match splitText (trimLead providerID "ibm:///") '/' with
    | [region, instanceID] =>
      if region = "" ∨ instanceID = "" then
        .error (.plain ("invalid VPC provider ID " ++ GoText.quoteText table providerID))
      else .ok ⟨region, "", .vpc⟩
    | _ => .error (.plain ("invalid VPC provider ID " ++ GoText.quoteText table providerID))
  else
    match splitText (trimLead providerID "ibm://") '/' with
    | [account, second, third, clusterID, workerID] =>
      if hasLead providerID "ibm://" = false ∨ account = "" ∨ second ≠ "" ∨ third ≠ "" ∨
          clusterID = "" ∨ workerID = "" then
        .error (.plain ("invalid IBM provider ID " ++ GoText.quoteText table providerID))
      else .ok ⟨"", clusterID, .iks⟩
    | _ => .error (.plain ("invalid IBM provider ID " ++ GoText.quoteText table providerID))

structure WorkerIdentity where
  accountID : String
  clusterID : String
  workerID : String
deriving DecidableEq

def parseProviderID (providerID : String) : Except GoError WorkerIdentity :=
  if hasLead providerID "ibm://" = false then .error (.plain "invalid IKS provider ID")
  else
    match splitText (trimLead providerID "ibm://") '/' with
    | [account, second, third, clusterID, workerID] =>
      if accountMatches account = false ∨ second ≠ "" ∨ third ≠ "" ∨ clusterID = "" ∨
          workerID = "" then
        .error (.plain "invalid IKS provider ID")
      else .ok ⟨account, clusterID, workerID⟩
    | _ => .error (.plain "invalid IKS provider ID")

/-! ## Splitting what was built -/

/-- What may stand between two slashes. -/
structure Segment (text : String) : Prop where
  nonempty : text ≠ ""
  slashFree : '/' ∉ text.toList

theorem splitText_pair {first second : String} (one : '/' ∉ first.toList)
    (two : '/' ∉ second.toList) :
    splitText (first ++ "/" ++ second) '/' = [first, second] := by
  have joined : first ++ "/" ++ second = joinText [first, second] '/' := by
    rw [← String.toList_inj]
    simp [joinText, List.intercalate]
  rw [joined, splitText_joinText _ _ (by simp)]
  simp [one, two]

theorem splitText_providerIDOf {region inst : String} (one : '/' ∉ region.toList)
    (two : '/' ∉ inst.toList) :
    splitText (providerIDOf region inst) '/' = ["ibm:", "", "", region, inst] := by
  have joined : providerIDOf region inst = joinText ["ibm:", "", "", region, inst] '/' := by
    rw [← String.toList_inj]
    simp [joinText, List.intercalate, providerIDOf]
  rw [joined, splitText_joinText _ _ (by simp)]
  simp [one, two]

variable {accountID : String}

theorem splitText_worker {clusterID workerID : String} (one : '/' ∉ accountID.toList)
    (two : '/' ∉ clusterID.toList) (three : '/' ∉ workerID.toList) :
    splitText (accountID ++ "///" ++ clusterID ++ "/" ++ workerID) '/' =
      [accountID, "", "", clusterID, workerID] := by
  have joined : accountID ++ "///" ++ clusterID ++ "/" ++ workerID =
      joinText [accountID, "", "", clusterID, workerID] '/' := by
    rw [← String.toList_inj]
    simp [joinText, List.intercalate]
  rw [joined, splitText_joinText _ _ (by simp)]
  simp [one, two, three]

theorem slashFree_of_accountMatches (valid : accountMatches accountID = true) :
    '/' ∉ accountID.toList := by
  rw [accountMatches, Bool.and_eq_true, List.all_eq_true] at valid
  intro mem
  exact absurd (valid.2 '/' mem) (by decide)

theorem ne_empty_of_accountMatches (valid : accountMatches accountID = true) : accountID ≠ "" := by
  rintro rfl
  exact absurd valid (by decide)

/-! ## What the decoders make of an ID -/

variable (table : Char → Bool)

structure VPCDecoded (providerID region instanceID : String) : Prop where
  classified : classForProviderID table providerID = .ok ⟨region, "", .vpc⟩
  inRegion : providerRegion providerID = region
  named : extractInstanceIDFromProviderID providerID = instanceID
  cleanup : OrphanCleanup.extractInstanceIDFromProviderID providerID = instanceID

structure IKSDecoded (providerID accountID clusterID workerID : String) : Prop where
  classified : classForProviderID table providerID = .ok ⟨"", clusterID, .iks⟩
  parsed : parseProviderID providerID = .ok ⟨accountID, clusterID, workerID⟩

theorem vpcDecoded_providerIDOf {region instanceID : String} (one : Segment region)
    (two : Segment instanceID) :
    VPCDecoded table (providerIDOf region instanceID) region instanceID := by
  have led : providerIDOf region instanceID = "ibm:///" ++ (region ++ "/" ++ instanceID) := by
    simp [providerIDOf, String.append_assoc]
  have parts := splitText_pair one.slashFree two.slashFree
  refine ⟨?_, ?_, ?_, ?_⟩
  · rw [classForProviderID, led, hasLead_append, trimLead_append, parts]
    simp [one.nonempty, two.nonempty]
  · rw [providerRegion, led, trimLead_append, parts]
  · rw [extractInstanceIDFromProviderID, splitText_providerIDOf one.slashFree two.slashFree]
    simp
  · rw [OrphanCleanup.extractInstanceIDFromProviderID, led, hasLead_append, trimLead_append, parts]
    simp [one.nonempty, two.nonempty]

variable {providerID : String}

theorem splitText_of_vpcLead (led : hasLead providerID "ibm:///" = true) :
    ∃ rest, splitText (trimLead providerID "ibm://") '/' = "" :: rest := by
  obtain ⟨rest, rfl⟩ := exists_of_hasLead led
  have shorter : "ibm:///" ++ rest = "ibm://" ++ (String.singleton '/' ++ rest) := by
    rw [← String.toList_inj]
    simp
  rw [shorter, trimLead_append, splitText_separator]
  exact ⟨_, rfl⟩

theorem iksDecoded_workerProviderID {clusterID workerID : String}
    (account : accountMatches accountID = true) (cluster : Segment clusterID)
    (worker : Segment workerID) :
    IKSDecoded table (workerProviderID accountID clusterID workerID) accountID clusterID
      workerID := by
  have led : workerProviderID accountID clusterID workerID =
      "ibm://" ++ (accountID ++ "///" ++ clusterID ++ "/" ++ workerID) := by
    simp [workerProviderID, String.append_assoc]
  have parts := splitText_worker (slashFree_of_accountMatches account) cluster.slashFree
    worker.slashFree
  have someAccount := ne_empty_of_accountMatches account
  have notVPC : hasLead (workerProviderID accountID clusterID workerID) "ibm:///" = false := by
    rw [Bool.eq_false_iff]
    intro vpc
    obtain ⟨rest, split⟩ := splitText_of_vpcLead vpc
    rw [led, trimLead_append, parts] at split
    exact someAccount (List.cons.inj split).1
  refine ⟨?_, ?_⟩
  · rw [classForProviderID, notVPC, led, hasLead_append, trimLead_append, parts]
    simp [someAccount, cluster.nonempty, worker.nonempty]
  · rw [parseProviderID, led, hasLead_append, trimLead_append, parts]
    simp [account, cluster.nonempty, worker.nonempty]

/-! ## Modes are not confused -/

variable {found : WorkerIdentity}

theorem parseProviderID_ok (parsed : parseProviderID providerID = .ok found) :
    hasLead providerID "ibm://" = true ∧ accountMatches found.accountID = true ∧
      found.clusterID ≠ "" ∧ found.workerID ≠ "" ∧ splitText (trimLead providerID "ibm://") '/' =
          [found.accountID, "", "", found.clusterID, found.workerID] := by
  unfold parseProviderID at parsed
  split_ifs at parsed with led
  rw [Bool.not_eq_false] at led
  split at parsed
  · next account second third cid workerID parts =>
      split_ifs at parsed with bad
      simp only [not_or, Bool.not_eq_false, ne_eq, not_not] at bad
      obtain ⟨valid, rfl, rfl, cluster, worker⟩ := bad
      cases parsed
      exact ⟨led, valid, cluster, worker, parts⟩
  · cases parsed

theorem not_vpcLead_of_parsed (parsed : parseProviderID providerID = .ok found) :
    hasLead providerID "ibm:///" = false := by
  obtain ⟨-, valid, -, -, parts⟩ := parseProviderID_ok parsed
  rw [Bool.eq_false_iff]
  intro vpc
  obtain ⟨rest, split⟩ := splitText_of_vpcLead vpc
  rw [parts] at split
  exact ne_empty_of_accountMatches valid (List.cons.inj split).1

/-- `classForProviderID` or the orphan cleanup takes the ID for that of a VPC instance. -/
def TakenForVPC (providerID : String) : Prop :=
  (∃ target, classForProviderID table providerID = .ok target ∧ target.mode = .vpc) ∨
    OrphanCleanup.extractInstanceIDFromProviderID providerID ≠ ""

theorem vpcLead_of_taken (taken : TakenForVPC table providerID) :
    hasLead providerID "ibm:///" = true := by
  by_contra other
  rcases taken with ⟨target, classified, vpc⟩ | named
  · rw [classForProviderID, if_neg other] at classified
    split at classified
    · split_ifs at classified
      cases classified
      cases vpc
    · cases classified
  · rw [OrphanCleanup.extractInstanceIDFromProviderID, if_neg other] at named
    exact named rfl

theorem classified_of_parsed (parsed : parseProviderID providerID = .ok found) :
    classForProviderID table providerID = .ok ⟨"", found.clusterID, .iks⟩ := by
  obtain ⟨led, valid, cluster, worker, parts⟩ := parseProviderID_ok parsed
  rw [classForProviderID, not_vpcLead_of_parsed parsed, led, parts]
  simp [ne_empty_of_accountMatches valid, cluster, worker]

/-- The IDs of launched nodes are decoded to what they were built from, by every decoder, and
no ID is taken for one of the other mode. -/
theorem provider_ids_round_trip :
    (∀ config claim instanceID, Segment config.region → Segment instanceID →
      VPCDecoded table (launchNode config claim instanceID).providerID config.region instanceID) ∧
    (∀ allocation worker, accountMatches allocation.accountID = true →
      Segment allocation.clusterID → Segment worker.id →
        IKSDecoded table (nodeForAllocation allocation worker).providerID allocation.accountID
          allocation.clusterID worker.id) ∧
    (∀ providerID, TakenForVPC table providerID →
      ∃ error, parseProviderID providerID = .error error) ∧
    ∀ providerID found, parseProviderID providerID = .ok found →
      ∃ target, classForProviderID table providerID = .ok target ∧ target.mode = .iks := by
  refine ⟨?_, ?_, ?_, ?_⟩
  · intro config claim instanceID region named
    exact vpcDecoded_providerIDOf table region named
  · intro allocation worker account cluster named
    exact iksDecoded_workerProviderID table account cluster named
  · intro providerID taken
    cases parsed : parseProviderID providerID with
    | error error => exact ⟨error, rfl⟩
    | ok found =>
      have led := vpcLead_of_taken table taken
      rw [not_vpcLead_of_parsed parsed] at led
      cases led
  · intro providerID found parsed
    exact ⟨_, classified_of_parsed table parsed, rfl⟩

def sampleLaunch : LaunchConfig :=
  ⟨"n", "x", "u", "k", "a", "", "us-south", "v", "p", "us-south-1", "s", "i", "on-demand", "h",
    "2", [], true, false, 0, ∅, ∅, ∅⟩

theorem provider_ids_round_trip_sample :
    VPCDecoded (fun _ => true) (launchNode sampleLaunch VPCCreate.sampleClaim "0717_i").providerID
        "us-south" "0717_i" ∧
      IKSDecoded (fun _ => true) (nodeForAllocation sampleAllocation sampleWorker).providerID
        "0123456789abcdef0123456789abcdef" "y" "w" :=
  have holds := provider_ids_round_trip fun _ => true
  ⟨holds.1 sampleLaunch VPCCreate.sampleClaim "0717_i" ⟨by decide, by decide⟩
      ⟨by decide, by decide⟩,
    holds.2.1 sampleAllocation sampleWorker (by decide) ⟨by decide, by decide⟩
      ⟨by decide, by decide⟩⟩

end KarpenterIBM.ProviderIDs
