import KarpenterIBM.VPC.AtMostOnce

/-!
# Launch requests in the cloud

The claim of `ClaimStore` together with the requests that were sent for it.
-/

namespace KarpenterIBM.LaunchCloud

open AtMostOnce Calls ClaimStore EffectProgram Errors Function Objects Ownership VPCCreate VPCLaunch

structure Request where
  serial : Nat
  pid : Nat
  name : String
  config : Option LaunchConfig
deriving DecidableEq

inductive Fate where
  | pending
  | live (id : String)
  | gone (id : String)
  | dead
deriving DecidableEq

structure Cloud where
  base : World
  sent : List Request
  fate : Request → Fate

def storedBy (event : Event) : Option LaunchConfig :=
  match event.exchange, event.after with
  | ⟨.patchClaim _ _, answer⟩, .launch config =>
    match answer with
    | .ok _ => if config.submitted then some config else none
    | .error _ => none
  | _, _ => none

def submittedBy (pid : Nat) (log : List Event) : Option LaunchConfig :=
  log.findSome? fun event => if event.pid = pid then storedBy event else none

def listingTime (event : Event) : Option Nat :=
  match event.exchange with
  | ⟨.listInstancesByName _, answer⟩ =>
    match answer with
    | .ok _ => some event.time
    | .error _ => none
  | _ => none

def lastListing (pid : Nat) (log : List Event) : Option Nat :=
  log.findSome? fun event => if event.pid = pid then listingTime event else none

def deadline (config : LaunchConfig) : Nat :=
  config.submittedAt + launchResolutionWindow

def Request.Open (request : Request) (now : Nat) : Prop :=
  ∀ config, request.config = some config → now ≤ deadline config

/-- The request was accepted as this instance. -/
def Fate.Accepted (fate : Fate) (id : String) : Prop :=
  fate = .live id ∨ fate = .gone id

variable (world : Cloud)

def Cloud.Unused (id : String) : Prop :=
  ∀ request ∈ world.sent, ¬ (world.fate request).Accepted id

inductive Decides (world : Cloud) (request : Request) : CreateAnswer → Fate → Prop where
  | created (found : Instance) (id : String) (identified : ∀ known, found.id = some known →
      known = id) (unused : world.Unused id) («open» : request.Open world.base.now) :
      Decides world request (.created found) (.live id)
  | refused (error : ApiError) (response : Option DetailedResponse) :
      Decides world request (.failed error response) .dead
  | unknown (error : ApiError) (response : Option DetailedResponse)
      (indefinite : ∀ status, answeredStatus (.failed error response) = some status →
        ¬ DefiniteStatus status) :
      Decides world request (.failed error response) .pending
  | lost (error : ApiError) (response : Option DetailedResponse)
      (indefinite : ∀ status, answeredStatus (.failed error response) = some status →
        ¬ DefiniteStatus status)
      (id : String) (unused : world.Unused id) («open» : request.Open world.base.now) :
      Decides world request (.failed error response) (.live id)

def Cloud.request (pid : Nat) (name : String) : Request :=
  ⟨world.sent.length, pid, name, submittedBy pid world.base.log⟩

def Cloud.Serves (pid : Nat) :
    (op : Call) → op.Answer → List Request → (Request → Fate) → Prop
  | .createInstance prototype, answer, sent, fate =>
    sent = world.request pid prototype.name :: world.sent ∧
      ∃ decided, Decides world (world.request pid prototype.name) answer decided ∧
        fate = update world.fate (world.request pid prototype.name) decided
  | .listInstancesByName name, answer, sent, fate =>
    sent = world.sent ∧ fate = world.fate ∧
      ∀ instances, answer = .ok instances → ∀ request ∈ world.sent, ∀ config id,
        request.config = some config → request.name = name →
          world.fate request = .live id → deadline config < world.base.now →
            ∃ listed ∈ instances, listed.name = some name
  | .getInstance id, answer, sent, fate =>
    sent = world.sent ∧ fate = world.fate ∧
      (∀ found, answer = .ok found → found.id = some id ∧
        ∃ request ∈ world.sent, world.fate request = .live id) ∧
      ∀ error, answer = .error error → SDKError error.val ∧
        (problemStatus error.val = some 404 →
          ∀ request ∈ world.sent, world.fate request ≠ .live id)
  | _, _, sent, fate => sent = world.sent ∧ fate = world.fate

def Cloud.Answers (pid : Nat) (op : Call) (answer : op.Answer) (next : Cloud) : Prop :=
  world.base.Answers pid op answer next.base ∧ world.Serves pid op answer next.sent next.fate

/-- The provider ID names an instance that was accepted for the claim. -/
def Cloud.Names (providerID : String) (request : Request) : Prop :=
  request ∈ world.sent ∧
    (world.fate request).Accepted (extractInstanceIDFromProviderID providerID)

/-- A move of the environment: of the API server, with the provider ID as it was or
published once, or of the cloud. -/
inductive Cloud.Outside (world : Cloud) : Cloud → Prop where
  | store (base : World) (moved : world.base.Outside base)
      (bound : ∀ before after, world.base.claim = some before → base.claim = some after →
        after.providerID = before.providerID ∨
          (before.providerID = "" ∧ ∃ request, world.Names after.providerID request)) :
      Outside world { world with base := base }
  | accepted (request : Request) (known : request ∈ world.sent)
      (pending : world.fate request = .pending) («open» : request.Open world.base.now)
      (id : String) (unused : world.Unused id) :
      Outside world { world with fate := update world.fate request (.live id) }
  | dropped (request : Request) (known : request ∈ world.sent)
      (pending : world.fate request = .pending) :
      Outside world { world with fate := update world.fate request .dead }
  | vanished (request : Request) (known : request ∈ world.sent) (id : String)
      (live : world.fate request = .live id) :
      Outside world { world with fate := update world.fate request (.gone id) }

/-! ## The condition on steps -/

/-- What a careful step keeps to.  A clock reading that follows a list does not fall
behind the end of the stored checkpoint's window when the list fell before it, and behind
that end a process that has listed does not write to a claim with a provider ID. -/
def Cloud.Careful (pid : Nat) : Call → Prop
  | .now => ∀ config listed, world.base.launch = .launch config → config.submitted = true →
      lastListing pid world.base.log = some listed → listed ≤ deadline config →
        world.base.now ≤ deadline config
  | .patchClaim _ _ => ∀ config claim, world.base.launch = .launch config →
      deadline config < world.base.now → lastListing pid world.base.log ≠ none →
        world.base.claim = some claim → claim.providerID = ""
  | _ => True

def Cloud.PublishesOwn (next : Cloud) : Prop :=
  ∀ before after, world.base.claim = some before → next.base.claim = some after →
    after.providerID ≠ before.providerID →
      ∃ request config, world.Names after.providerID request ∧ request.config = some config ∧
        world.base.launch = .launch config

/-- `Create` attempts and reconciles; `careful` restricts the runs to careful steps. -/
def launchSystem (platform : Platform) (careful : Prop) : System calls GoError where
  World := Cloud
  initial world := world.base.Fresh ∧ world.sent = [] ∧
    ∀ claim, world.base.claim = some claim → claim.providerID = ""
  spawns program :=
    (∃ claim instanceTypes,
      program = (create platform claim instanceTypes >>= fun _ => pure ())) ∨
      ∃ name, program = reconcile platform name
  answers world pid op answer next :=
    world.Answers pid op answer next ∧ (careful → world.Careful pid op)
  crash world _ := world
  environment world next := world.Outside next ∧ (careful → world.PublishesOwn next)

/-! ## No leak -/

def MaySend (program : Prog calls GoError Unit) : Prop :=
  ∃ trace prototype rest, Reaches program trace (.call (.createInstance prototype) rest)

/-- An instance exists, or a request that a submitted checkpoint allows may still
produce one. -/
inductive Outstanding {platform : Platform} {careful : Prop}
    (config : Config (launchSystem platform careful)) : Prop where
  | live (request : Request) (sent : request ∈ config.world.sent) (id : String)
      (living : config.world.fate request = .live id)
  | pending (request : Request) (sent : request ∈ config.world.sent)
      (pending : config.world.fate request = .pending)
      («open» : request.Open config.world.base.now)
  | allowed (pid : Nat) (rest : Prog calls GoError Unit)
      (running : config.procs pid = .running rest) (may : MaySend rest)
      (checkpoint : LaunchConfig)
      (stored : submittedBy pid config.world.base.log = some checkpoint)
      («open» : config.world.base.now ≤ deadline checkpoint)

def NoLeak {platform : Platform} {careful : Prop}
    (config : Config (launchSystem platform careful)) : Prop :=
  Outstanding config → ∃ claim, config.world.base.claim = some claim ∧
    launchFinalizer ∈ claim.finalizers

end KarpenterIBM.LaunchCloud
