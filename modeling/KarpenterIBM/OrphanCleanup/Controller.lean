import KarpenterIBM.Ownership

/-!
# The orphan cleanup controller

`pkg/controllers/node/orphancleanup`.
-/

namespace KarpenterIBM.OrphanCleanup

open EffectProgram Errors Objects Ownership Text

/-! ## Interface -/

structure VPCInstance where
  id : Option String
  crn : Option String
  /-- The creation time, absent when it is nil or the zero time. -/
  createdAt : Option Int
deriving DecidableEq

structure TagPage where
  items : List (Option String)
  totalCount : Option Int
deriving DecidableEq

inductive Call where
  | getNamespaceUID
  | getVPCClient
  | listInstances
  | listNodes
  | listClaims
  | now
  | listTags (crn : String) (offset : Nat)
  | getInstance (id : String)
  | deleteInstance (id : String)

def Call.Answer : Call → Type
  | .getNamespaceUID => Except GoError String
  | .getVPCClient => Except GoError Unit
  | .listInstances => Except GoError (List VPCInstance)
  | .listNodes => Except GoError (List Node)
  | .listClaims => Except GoError (List NodeClaim)
  | .now => Int
  | .listTags _ _ => Except GoError (Option TagPage)
  | .getInstance _ => Except GoError (Option VPCInstance)
  | .deleteInstance _ => Except GoError Unit

abbrev inventory : Signature := ⟨Call, Call.Answer⟩

abbrev Program (α : Type) : Type := Prog inventory GoError α

def getNamespaceUID : Program String := .call .getNamespaceUID ofExcept

def getVPCClient : Program Unit := .call .getVPCClient ofExcept

def listInstances : Program (List VPCInstance) := .call .listInstances ofExcept

def listNodes : Program (List Node) := .call .listNodes ofExcept

def listClaims : Program (List NodeClaim) := .call .listClaims ofExcept

structure Controller where
  enabled : Bool
  hasIBMClient : Bool
  hasGlobalTagging : Bool
  orphanTimeout : Int

/-- The order in which Go ranges over a map: any order of the entries. -/
abbrev MapOrder (α : Type) : Type :=
  { arrange : List α → List α // ∀ entries, (arrange entries).Perm entries }

/-! ## Provider IDs -/

def extractInstanceIDFromProviderID (providerID : String) : String :=
  if hasLead providerID "ibm:///" then
    match splitText (trimLead providerID "ibm:///") '/' with
    | [region, id] => if region = "" ∨ id = "" then "" else id
    | _ => ""
  else ""

/-! ## Tags -/

def conflicts (tags : StringMap) (key value : String) : Bool :=
  match tags.lookup key with
  | some existing => decide (existing ≠ value) && reservedTag key
  | none => false

def collect : StringMap → List (Option String) → Except GoError StringMap
  | tags, [] => .ok tags
  | tags, none :: rest => collect tags rest
  | tags, some name :: rest =>
    match cutText name ':' with
    | none => collect tags rest
    | some (key, value) =>
      if conflicts tags key value then
        .error (.plain ("conflicting ownership values for " ++ key))
      else collect (tags.insert key value) rest

def limit : Nat := 100

def afterPage (goOn : Nat → StringMap → Program StringMap) (offset : Nat) (tags : StringMap) :
    Except GoError (Option TagPage) → Program StringMap
  | .error error => .fail (.wrap "listing resource ownership tags: " error "")
  | .ok none => .pure ∅
  | .ok (some page) =>
    match collect tags page.items with
    | .error error => .fail error
    | .ok found =>
      match page.totalCount with
      | some total =>
        if total ≤ (offset + page.items.length : Nat) then .pure found
        else if page.items = [] then .fail (.plain "incomplete ownership tag listing")
        else goOn (offset + page.items.length) found
      | none =>
        if page.items.length < limit then .pure found
        else goOn (offset + page.items.length) found

/-- The loop over the pages.  The source has no bound on their number; a listing that
has not ended after `rounds` pages stops here, without a result. -/
def tagsFrom (crn : String) : Nat → Nat → StringMap → Program StringMap
  | 0, _, _ => .fail (.plain "listing continues")
  | rounds + 1, offset, tags =>
    .call (.listTags crn offset) (afterPage (tagsFrom crn rounds) offset tags)

variable (controller : Controller)

def instanceTags (rounds : Nat) (crn : Option String) : Program StringMap :=
  match crn with
  | none => pure ∅
  | some name =>
    if name = "" ∨ controller.hasGlobalTagging = false then pure ∅
    else tagsFrom name rounds 0 ∅

def clusterUID : Program String := do
  let uid ← Prog.mapError (fun error => .wrap "reading cluster identity: " error "")
    getNamespaceUID
  if uid = "" then .fail (.plain "kube-system namespace has no UID")
  else pure uid

def ownsTags (tags : StringMap) : Program Bool :=
  if tags.read managedTag ≠ "true" ∨ tags.read providerTag ≠ "vpc" ∨
      tags.read claimUIDTag = "" ∨ tags.read nodeClassUIDTag = "" then
    pure false
  else do
    let cluster ← clusterUID
    pure (decide (tags.read clusterUIDTag = cluster))

/-! ## The final check -/

def claimRefers (tags : StringMap) (instanceID : String) (claim : NodeClaim) : Bool :=
  decide (claim.uid = tags.read claimUIDTag) ||
    decide (extractInstanceIDFromProviderID claim.providerID = instanceID)

def nodeRefers (instanceID : String) (node : Node) : Bool :=
  decide (extractInstanceIDFromProviderID node.providerID = instanceID)

def deleteUnlessUsed (rounds : Nat) (instanceID : String) (crn : Option String) : Program Unit := do
  let tags ← instanceTags controller rounds crn
  let owned ← ownsTags tags
  if owned = false then pure ()
  else do
    let claims ← listClaims
    if claims.any (claimRefers tags instanceID) then pure ()
    else do
      let nodes ← listNodes
      if nodes.any (nodeRefers instanceID) then pure ()
      else
        .call (.deleteInstance instanceID) fun answer =>
          match answer with
          | .ok _ => pure ()
          | .error error => if isNotFound error then pure () else .fail error

def processOrphanedInstance (rounds : Nat) (instanceID : String) : Program Unit := do
  let _ ← getVPCClient
  .call (.getInstance instanceID) fun answer =>
    match answer with
    | .error error => if isNotFound error then pure () else .fail error
    | .ok none => .fail (.plain "instance lookup returned no instance")
    | .ok (some found) =>
      if found.id ≠ some instanceID then pure ()
      else
        match found.createdAt with
        | none => pure ()
        | some created =>
          .call .now fun (time : Int) =>
            if time - created < controller.orphanTimeout then pure ()
            else deleteUnlessUsed controller rounds instanceID found.crn

/-! ## A pass -/

def insertInstance (entries : List (String × VPCInstance)) (found : VPCInstance) :
    List (String × VPCInstance) :=
  match found.id with
  | none => entries
  | some id =>
    if id = "" then entries
    else entries.filter (fun entry => entry.1 ≠ id) ++ [(id, found)]

def getAllVPCInstances : Program (List (String × VPCInstance)) := do
  let _ ← Prog.mapError (fun error => .wrap "getting VPC client: " error "")
    getVPCClient
  let instances ← listInstances
  pure (instances.foldl insertInstance [])

def examine (rounds : Nat) (expected : List String) (entry : String × VPCInstance) : Program Unit :=
  if entry.1 ∈ expected then pure ()
  else
    match entry.2.createdAt with
    | none => pure ()
    | some created =>
      .call .now fun (time : Int) =>
        if time - created < controller.orphanTimeout then pure ()
        else do
          let tags ← instanceTags controller rounds entry.2.crn
          let owned ← ownsTags tags
          if owned = false then pure ()
          else processOrphanedInstance controller rounds entry.1

def examineAll (controller : Controller) (rounds : Nat) (expected : List String) :
    List (String × VPCInstance) → Program (List GoError)
  | [] => pure []
  | entry :: rest => do
    let outcome ← (examine controller rounds expected entry).attempt
    let errs ← examineAll controller rounds expected rest
    match outcome with
    | .ok _ => pure errs
    | .error error => pure (error :: errs)

/-- One pass.  The result is the list of errors that the source combines into one. -/
def reconcile (rounds : Nat) (order : MapOrder (String × VPCInstance)) : Program (List GoError) :=
  if controller.enabled = false ∨ controller.hasIBMClient = false ∨
      controller.hasGlobalTagging = false then
    pure []
  else do
    let _ ← clusterUID
    let instances ← getAllVPCInstances
    let nodes ← listNodes
    let claims ← listClaims
    let expected := nodes.map (fun node => extractInstanceIDFromProviderID node.providerID) ++
      claims.map fun claim => extractInstanceIDFromProviderID claim.providerID
    examineAll controller rounds expected (order.1 instances)

end KarpenterIBM.OrphanCleanup
